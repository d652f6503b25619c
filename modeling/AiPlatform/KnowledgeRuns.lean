import AiPlatform.KnowledgePrograms

/-!
What holds of the documents along every schedule. A commit inserts one document,
writes the outcome of an ingestion to the row it has claimed, or removes rows that
no other transaction has locked. A claimed row stays as the claim read it.
-/

namespace AiPlatform.Knowledge

inductive Commits (i : Nat) (session : Session) (shared after : Shared) : Prop
  | keeps (documents : after.documents = shared.documents)
      (uploaded : after.uploaded = shared.uploaded) (indexed : after.indexed = shared.indexed)
  | inserts (document : Document) (claimed : session.claimed = none)
      (checked : session.checked = some (document.knowledgeBaseId, document.sha256))
      (drawn : document.id ∈ session.drawn) (status : document.status = .uploaded)
      (fresh : ∀ row ∈ shared.documents, row.id ≠ document.id)
      (documents : after.documents = shared.documents ++ [Session.stored document])
      (uploaded : after.uploaded = shared.uploaded ++ [document.id])
      (indexed : after.indexed = shared.indexed)
  | concludes (row document : Document) (claimed : session.claimed = some row)
      (keeps : row.Keeps document) (begun : document.status ≠ .uploaded)
      (settles : session.Settles document)
      (documents : after.documents =
        Rows.amend Document.id row.id (fun _ => document) shared.documents)
      (uploaded : after.uploaded = shared.uploaded)
      (indexed : after.indexed = if document.status = .indexed
        then shared.indexed ++ [(i, row.id)] else shared.indexed)
  | removes (leaves : Document → Bool)
      (free : ∀ row ∈ shared.documents, leaves row = false → shared.locks.free i row.id = true)
      (documents : after.documents = shared.documents.filter leaves)
      (uploaded : after.uploaded = shared.uploaded) (indexed : after.indexed = shared.indexed)

section Writes

variable {i : Nat} {session : Session} {shared after : Shared} {row document : Document}

theorem amend_amend {first second : Document} (same : first.id = row.id)
    (documents : List Document) :
    Rows.amend Document.id row.id (fun _ => second)
        (Rows.amend Document.id first.id (fun _ => first) documents) =
      Rows.amend Document.id row.id (fun _ => second) documents := by
  simp only [Rows.amend, List.map_map]
  apply List.map_congr_left
  intro other _
  by_cases keyed : other.id = row.id
  · simp [keyed, same]
  · simp [keyed, same]

theorem amend_inserted {documents : List Document}
    (fresh : ∀ row ∈ documents, row.id ≠ document.id) :
    Rows.amend Document.id document.id (fun _ => Session.stored document)
      (documents ++ [document]) = documents ++ [Session.stored document] := by
  rw [Rows.amend, List.map_append]
  congr 1
  · conv_rhs => rw [← List.map_id documents]
    apply List.map_congr_left
    intro row member
    simp [fresh row member]
  · simp

theorem writeAll_ingests {writes : List Write} {drawn : List Uuid}
    (ingests : ∀ write ∈ writes, Ingests row drawn write)
    (unfinished : ∀ saved, .save saved ∈ writes → saved.status ≠ .indexed)
    (wrote : shared.writeAll i writes = some after) :
    Rows.amend Document.id row.id (fun _ => document) after.documents =
        Rows.amend Document.id row.id (fun _ => document) shared.documents ∧
      after.uploaded = shared.uploaded ∧ after.indexed = shared.indexed := by
  refine Shared.writeAll_keeps
    (fun store => Rows.amend Document.id row.id (fun _ => document) store.documents = _ ∧
      store.uploaded = _ ∧ store.indexed = _) ⟨rfl, rfl, rfl⟩ ?_ wrote
  rintro store write member ⟨documents, uploaded, indexed⟩ _
  cases ingests write member with
  | save saved keeps begun =>
      refine ⟨(amend_amend keeps.id _).trans documents, uploaded, ?_⟩
      simp only [Shared.written, if_neg (unfinished saved member)]
      exact indexed
  | deleteChunks => exact ⟨documents, uploaded, indexed⟩
  | insertChunks rows owned => exact ⟨documents, uploaded, indexed⟩

theorem writeAll_append {first second : List Write} :
    shared.writeAll i (first ++ second) =
      (shared.writeAll i first).bind fun store => store.writeAll i second := by
  induction first generalizing shared with
  | nil => rfl
  | cons write rest ih =>
      simp only [List.cons_append, Shared.writeAll]
      split
      · exact ih
      · rfl

theorem writeAll_single {write : Write} (wrote : shared.writeAll i [write] = some after) :
    shared.permits i write = true ∧ after = shared.written i write := by
  simp only [Shared.writeAll] at wrote
  split at wrote
  · rename_i permitted
    exact ⟨permitted, (Option.some.inj wrote).symm⟩
  · cases wrote

theorem commits_concluded (concluded : session.Concluded row)
    (wrote : shared.writeAll i session.writes = some after) :
    Commits i session shared after := by
  obtain ⟨earlier, document, same, unfinished, settles⟩ := concluded.last
  have ingests := concluded.writes
  rw [same] at wrote ingests
  rw [writeAll_append] at wrote
  obtain ⟨store, before, wrote⟩ := Option.bind_eq_some_iff.mp wrote
  obtain ⟨_, rfl⟩ := writeAll_single wrote
  have kept : Rows.amend Document.id row.id (fun _ => document) store.documents =
        Rows.amend Document.id row.id (fun _ => document) shared.documents ∧
      store.uploaded = shared.uploaded ∧ store.indexed = shared.indexed :=
    writeAll_ingests (fun write member => ingests write (List.mem_append_left _ member))
      unfinished before
  obtain ⟨documents, uploaded, indexed⟩ := kept
  cases ingests _ (List.mem_append_right _ (List.mem_singleton_self _)) with
  | save _ keeps begun =>
      refine .concludes row document concluded.claimed keeps begun settles ?_ uploaded ?_
      · rw [← documents]
        simp only [Shared.written, keeps.id]
      · simp only [Shared.written, keeps.id, indexed]

theorem commits_ends (ends : session.Ends)
    (wrote : shared.writeAll i session.writes = some after) :
    Commits i session shared after := by
  cases ends with
  | idle writes =>
      rw [writes] at wrote
      cases wrote
      exact .keeps rfl rfl rfl
  | creates base drawn writes =>
      rw [writes] at wrote
      obtain ⟨_, rfl⟩ := writeAll_single wrote
      exact .keeps rfl rfl rfl
  | uploads document claimed checked drawn status writes =>
      rw [writes, ← List.singleton_append, writeAll_append] at wrote
      obtain ⟨store, first, second⟩ := Option.bind_eq_some_iff.mp wrote
      obtain ⟨permitted, rfl⟩ := writeAll_single first
      obtain ⟨_, rfl⟩ := writeAll_single second
      have fresh : ∀ row ∈ shared.documents, row.id ≠ document.id := by
        simp only [Shared.permits, Bool.and_eq_true] at permitted
        simpa using permitted.1
      refine .inserts document claimed checked drawn status fresh (amend_inserted fresh) rfl ?_
      simp [Shared.written, Session.stored, status]
  | deletes row request claimed loaded erased writes =>
      rw [writes] at wrote
      obtain ⟨permitted, rfl⟩ := writeAll_single wrote
      refine .removes _ (fun other _ gone => ?_) rfl rfl rfl
      have same : other.id = row.id := by simpa using gone
      rw [same]
      exact permitted
  | deletesBase id request writes =>
      rw [writes] at wrote
      obtain ⟨permitted, rfl⟩ := writeAll_single wrote
      refine .removes _ (fun other member gone => ?_) rfl rfl rfl
      have same : other.knowledgeBaseId = id := by simpa using gone
      simp only [Shared.permits, Bool.and_eq_true, List.all_eq_true] at permitted
      simpa [same] using permitted.1 other member

def Session.Closes (session : Session) : Prop := session.Ends ∨ ∃ row, session.Concluded row

theorem commit_closes (closes : session.Closes)
    (committed : shared.commit i session = some after) :
    ∃ wrote, shared.writeAll i session.writes = some wrote ∧ after = wrote.close i ∧
      Commits i session shared after := by
  obtain ⟨wrote, found, rfl⟩ := Option.map_eq_some_iff.mp committed
  have commits : Commits i session shared wrote := by
    rcases closes with ends | ⟨row, concluded⟩
    · exact commits_ends ends found
    · exact commits_concluded concluded found
  refine ⟨wrote, found, rfl, ?_⟩
  cases commits with
  | keeps documents uploaded indexed => exact .keeps documents uploaded indexed
  | inserts document claimed checked drawn status fresh documents uploaded indexed =>
      exact .inserts document claimed checked drawn status fresh documents uploaded indexed
  | concludes row document claimed keeps begun settles documents uploaded indexed =>
      exact .concludes row document claimed keeps begun settles documents uploaded indexed
  | removes leaves free documents uploaded indexed =>
      exact .removes leaves free documents uploaded indexed

theorem commit_locks (committed : shared.commit i session = some after) :
    after.locks = shared.locks.release i := by
  obtain ⟨wrote, found, rfl⟩ := Option.map_eq_some_iff.mp committed
  exact congrArg (·.release i) 
    (Shared.writeAll_same Shared.locks (fun store write => Shared.written_locks store i write) found)

end Writes

def Claims (i : Nat) (session : Session) (shared : Shared) : Prop :=
  ∀ row, session.claimed = some row →
    shared.locks row.id = some i ∧ row ∈ shared.documents ∧ row.status = .uploaded

section Claims

variable {i j : Nat} {session other : Session} {shared next : Shared} {op : Op}
  {reply : Reply op}

theorem Claims.same (claims : Claims i session shared) (documents : next.documents = shared.documents)
    (locks : next.locks = shared.locks) : Claims i session next := by
  intro row claimed
  rw [documents, locks]
  exact claims row claimed

theorem claims_none (unclaimed : session.claimed = none) (shared : Shared) :
    Claims i session shared := by
  intro row claimed
  rw [unclaimed] at claimed
  cases claimed

theorem Commits.stays {after : Shared} (commits : Commits i session shared after)
    (own : Claims i session shared) (different : j ≠ i) {row : Document}
    (locked : shared.locks row.id = some j) (stored : row ∈ shared.documents) :
    row ∈ after.documents := by
  cases commits with
  | keeps documents => rwa [documents]
  | inserts document claimed checked drawn status fresh documents =>
      rw [documents]
      exact List.mem_append_left _ stored
  | concludes mine document claimed keeps begun settles documents =>
      rw [documents]
      refine Rows.mem_amend.mpr (.inr ⟨stored, fun same => ?_⟩)
      rw [same, (own mine claimed).1] at locked
      exact different (Option.some.inj locked).symm
  | removes leaves free documents =>
      rw [documents]
      refine List.mem_filter.mpr ⟨stored, ?_⟩
      cases left : leaves row with
      | true => rfl
      | false =>
          have unlocked := free row stored left
          simp [Locks.free, locked, different] at unlocked

theorem Claims.committed {after : Shared} (claims : Claims j other shared)
    (own : Claims i session shared) (commits : Commits i session shared after)
    (locks : after.locks = shared.locks.release i) (different : j ≠ i) :
    Claims j other after := by
  intro row claimed
  obtain ⟨locked, stored, uploaded⟩ := claims row claimed
  refine ⟨?_, commits.stays own different locked stored, uploaded⟩
  rw [locks]
  simp [Locks.release, locked, different]

theorem Claims.closed (claims : Claims j other shared) (different : j ≠ i) :
    Claims j other (shared.close i) := by
  intro row claimed
  obtain ⟨locked, stored, uploaded⟩ := claims row claimed
  refine ⟨?_, stored, uploaded⟩
  simp [Shared.close, Locks.release, locked, different]

theorem Claims.acquired (claims : Claims j other shared) (different : j ≠ i) {id : Uuid}
    (free : shared.locks.free i id = true) :
    Claims j other { shared with locks := shared.locks.acquire i [id] } := by
  intro row claimed
  obtain ⟨locked, stored, uploaded⟩ := claims row claimed
  refine ⟨?_, stored, uploaded⟩
  by_cases same : row.id = id
  · rw [← same] at free
    simp [Locks.free, locked, different] at free
  · simp [Locks.acquire, same, locked]

theorem Claims.marked (claims : Claims j other shared) (different : j ≠ i) {loaded : Document}
    (free : shared.locks.free i loaded.id = true) (message : String) :
    Claims j other (shared.mark i loaded message) := by
  intro row claimed
  obtain ⟨locked, stored, uploaded⟩ := claims row claimed
  refine ⟨locked, Rows.mem_amend.mpr (.inr ⟨stored, fun same => ?_⟩), uploaded⟩
  rw [← same] at free
  simp [Locks.free, locked, different] at free

theorem after_claimed {row : Document} (claimed : (session.after op reply).claimed = some row) :
    session.claimed = some row ∨ op = .claimNextPending := by
  cases op with
  | claimNextPending =>
      cases reply with
      | none => exact .inl claimed
      | some found => exact .inr rfl
  | commit => cases reply <;> cases claimed
  | rollback => cases claimed
  | save | deleteChunks | insertChunks => cases reply <;> exact .inl claimed
  | findDuplicate => cases reply <;> exact .inl claimed
  | getWithBase =>
      cases reply with
      | none => exact .inl claimed
      | some found => exact .inl claimed
  | readAgain =>
      cases reply with
      | error failure => exact .inl claimed
      | ok found => cases found <;> exact .inl claimed
  | _ => exact .inl claimed

theorem Claims.effect (claims : Claims j other shared) (own : Claims i session shared)
    (permitted : session.Permits op) (different : j ≠ i)
    (effect : Effect i session shared op reply next) : Claims j other next := by
  cases effect with
  | quiet | idle | readsAgain => exact claims
  | stores | places | lists | draws | refers | gone | markFails => exact claims.same rfl rfl
  | claims row stored uploaded free => exact claims.acquired different free
  | commits after committed =>
      obtain ⟨_, _, _, commits⟩ := commit_closes (.inr permitted) committed
      exact claims.committed own commits (commit_locks committed) different
  | commitLost failure after committed =>
      obtain ⟨_, _, _, commits⟩ := commit_closes (.inr permitted) committed
      exact (claims.committed own commits (commit_locks committed) different).same rfl rfl
  | commitFails failure => exact (claims.closed different).same rfl rfl
  | rollback => exact (claims.closed different).same rfl rfl
  | marks loaded message result free =>
      exact (claims.marked different free message).same rfl rfl

theorem Claims.own (own : Claims i session shared) (permitted : session.Permits op)
    (effect : Effect i session shared op reply next) : Claims i (session.after op reply) next := by
  cases effect with
  | claims row stored uploaded free =>
      rintro _ ⟨⟩
      exact ⟨by simp [Locks.acquire], stored, uploaded⟩
  | commits after committed => exact claims_none rfl _
  | commitLost failure after committed => exact claims_none rfl _
  | commitFails failure => exact claims_none rfl _
  | rollback => exact claims_none rfl _
  | marks loaded message result free => exact claims_none permitted.1 _
  | idle => exact own
  | quiet _ _ quiet =>
      intro row claimed
      rcases after_claimed claimed with before | rfl
      · exact own row before
      · cases quiet
  | stores _ _ vectors stores =>
      intro row claimed
      rcases after_claimed claimed with before | rfl
      · exact own row before
      · exact stores.elim
  | places _ _ objects places =>
      intro row claimed
      rcases after_claimed claimed with before | rfl
      · exact own row before
      · exact places.elim
  | lists | draws | refers | readsAgain | gone | markFails =>
      intro row claimed
      rcases after_claimed claimed with before | same
      · exact own row before
      · cases same

end Claims

end AiPlatform.Knowledge
